import Swimlane.Decimal.Shortest

/-!
# Lengths

A drawing is computed with lengths of some kind: single-precision numbers when the program
runs, exact rational numbers when its geometry is reasoned about.  `Length` collects what
the computation asks of them, so that one definition of the layout serves both.
-/

namespace Swimlane

/-- Numbers to measure a drawing with. -/
class Length (α : Type) extends Add α, Sub α, Mul α, Div α where
  /-- A whole number. -/
  ofInt : Int → α
  /-- So many thousandths. -/
  thousandths : Nat → α
  /-- The nearest length to a double. -/
  ofDouble : Float → α
  /-- Is the first less than the second? -/
  less : α → α → Bool
  /-- Is the first at most the second? -/
  atMost : α → α → Bool
  /-- The larger of two lengths, and the first if neither is. -/
  larger : α → α → α
  /-- The smaller of two lengths, and the first if neither is. -/
  smaller : α → α → α
  /-- Neither infinite nor undefined. -/
  isFinite : α → Bool

namespace Length

variable {α : Type} [Length α]

/-- No length. -/
def zero : α := ofInt 0

/-- Twice a length. -/
def twice (x : α) : α := x * ofInt 2

/-- Half a length. -/
def half (x : α) : α := x / ofInt 2

/-- As many times a length. -/
def times (x : α) (n : Nat) : α := x * ofInt n

/-- The sum of a list of lengths, added from the left. -/
def sum : List α → α
  | [] => zero
  | x :: rest => rest.foldl (· + ·) x

/-- The largest of a list of lengths, and at least `floor`. -/
def largest (floor : α) (xs : List α) : α := xs.foldl larger floor

/-- The length moved into the range from `low` to `high`. -/
def clamp (low high x : α) : α :=
  let x := if less x low then low else x
  if less high x then high else x

end Length

/-! ## Single precision -/

/-- The single nearest to `m * 2 ^ q`. -/
def singleOfBinary (m : Nat) (q : Int) : Float32 :=
  if 0 ≤ q then Float32.ofScientific (m * Nat.pow 2 q.toNat) false 0
  else Float32.ofScientific (m * Nat.pow 5 (-q).toNat) true (-q).toNat

/-- The single nearest to a whole number. -/
def singleOfInt (n : Int) : Float32 :=
  if n < 0 then -Float32.ofScientific n.natAbs false 0 else Float32.ofScientific n.natAbs false 0

/-- The single nearest to a double. -/
def singleOfDouble (x : Float) : Float32 :=
  match Decimal.partsOfDouble x with
  | .notFinite => if x < 0 then -1 / 0 else 1 / 0
  | .zero negative => if negative then -0 else 0
  | .nonzero negative b =>
      let y := singleOfBinary b.mantissa b.exponent
      if negative then -y else y

/-- Of two singles of which one may be undefined, the other one counts. -/
def singleChoice (better : Float32 → Float32 → Bool) (a b : Float32) : Float32 :=
  if a.isNaN then b else if better b a then b else a

instance : Length Float32 where
  ofInt := singleOfInt
  thousandths n := Float32.ofScientific n true 3
  ofDouble := singleOfDouble
  less a b := decide (a < b)
  atMost a b := decide (a ≤ b)
  larger := singleChoice (fun b a => decide (a < b))
  smaller := singleChoice (fun b a => decide (b < a))
  isFinite := Float32.isFinite

/-! ## Exact arithmetic -/

/-- The exact value of a double; a double that is not finite counts as zero. -/
def rationalOfDouble (x : Float) : Rat :=
  match Decimal.partsOfDouble x with
  | .notFinite | .zero _ => 0
  | .nonzero negative b =>
      let y : Rat := (b.value.num : Rat) / (b.value.den : Rat)
      if negative then -y else y

instance : Length Rat where
  ofInt n := n
  thousandths n := (n : Rat) / 1000
  ofDouble := rationalOfDouble
  less a b := decide (a < b)
  atMost a b := decide (a ≤ b)
  larger a b := if a < b then b else a
  smaller a b := if b < a then b else a
  isFinite _ := true

end Swimlane
