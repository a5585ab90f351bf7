import Swimlane.Text.Basic

/-!
# The fewest digits that read back

A binary floating-point number stands for an interval of reals: those that round to it.
Of all decimals in the interval, the number is written as one with the fewest digits, and
of these as the one nearest to the number itself.  The search is exact, on natural
numbers: for one digit, two digits and so on it tries the two multiples of the decimal
unit that enclose the number.
-/

namespace Swimlane.Decimal

/-! ## Binary values and their intervals -/

/-- The positive number `mantissa * 2 ^ exponent`. -/
structure Binary where
  mantissa : Nat
  exponent : Int
  /-- Just above a power of two, where the gap below is half the gap above. -/
  narrowBelow : Bool

/-- A nonnegative fraction. -/
structure Fraction where
  num : Nat
  den : Nat

/-- The fraction `n * 2 ^ e`. -/
def Fraction.binary (n : Nat) (e : Int) : Fraction :=
  if 0 ≤ e then ⟨n * Nat.pow 2 e.toNat, 1⟩ else ⟨n, Nat.pow 2 (-e).toNat⟩

/-- The fraction `n * 10 ^ e`. -/
def Fraction.decimal (n : Nat) (e : Int) : Fraction :=
  if 0 ≤ e then ⟨n * Nat.pow 10 e.toNat, 1⟩ else ⟨n, Nat.pow 10 (-e).toNat⟩

/-- Is one fraction less than the other? -/
def Fraction.less (a b : Fraction) : Bool := a.num * b.den < b.num * a.den

/-- The value of a binary number. -/
def Binary.value (b : Binary) : Fraction := .binary b.mantissa b.exponent

/-- The point halfway to the next number above. -/
def Binary.upper (b : Binary) : Fraction := .binary (4 * b.mantissa + 2) (b.exponent - 2)

/-- The point halfway to the next number below. -/
def Binary.lower (b : Binary) : Fraction :=
  .binary (4 * b.mantissa - if b.narrowBelow then 1 else 2) (b.exponent - 2)

/-- Does the fraction round to the number?  The two ends of the interval do so exactly
when the mantissa is even. -/
def Binary.readsBack (b : Binary) (x : Fraction) : Bool :=
  if b.mantissa % 2 = 0 then !x.less b.lower && !b.upper.less x
  else b.lower.less x && x.less b.upper

/-! ## The search -/

/-- The least `k` with `b < 10 ^ k`, from an estimate by the binary logarithm. -/
def Binary.scale (b : Binary) : Int :=
  let guess := ((Nat.log2 b.mantissa : Int) + b.exponent) * 30103 / 100000
  if b.value.less (.decimal 1 guess) then guess
  else if b.value.less (.decimal 1 (guess + 1)) then guess + 1
  else guess + 2

/-- The multiple of `10 ^ e` just below the number, as a multiplier. -/
def Binary.multiplierBelow (b : Binary) (e : Int) : Nat :=
  let v := b.value
  let unit := Fraction.decimal 1 e
  (v.num * unit.den) / (v.den * unit.num)

/-- Is the number nearer to the multiple `n` of `10 ^ e` than to the next one?  On a tie
the even multiple counts as nearer. -/
def Binary.prefersBelow (b : Binary) (n : Nat) (e : Int) : Bool :=
  let middle := Fraction.decimal (10 * n + 5) (e - 1)
  if b.value.less middle then true else if middle.less b.value then false else n % 2 = 0

/-- A multiple of `10 ^ e` that rounds to the number, the nearest if there are two. -/
def Binary.onGrid (b : Binary) (e : Int) : Option Nat :=
  let n := b.multiplierBelow e
  match b.readsBack (.decimal n e), b.readsBack (.decimal (n + 1) e) with
  | true, true => some (if b.prefersBelow n e then n else n + 1)
  | true, false => some n
  | false, true => some (n + 1)
  | false, false => none

/-- A decimal `digits * 10 ^ exponent`. -/
structure Numeral where
  digits : Nat
  exponent : Int

/-- The first grid, from the coarsest, that holds a decimal for the number; `count`
grids are tried, and the exact value stands in if none does. -/
def Binary.search (b : Binary) : Nat → Int → Numeral
  | 0, _ =>
      if 0 ≤ b.exponent then ⟨b.mantissa * Nat.pow 2 b.exponent.toNat, 0⟩
      else ⟨b.mantissa * Nat.pow 5 (-b.exponent).toNat, b.exponent⟩
  | count + 1, e =>
      match b.onGrid e with
      | some n => ⟨n, e⟩
      | none => b.search count (e - 1)

/-- The decimal with the fewest digits that rounds to the number.  Seventeen digits
suffice for every format of up to sixty-four bits. -/
def Binary.shortest (b : Binary) : Numeral := b.search 17 (b.scale - 1)

/-! ## Formats of thirty-two and sixty-four bits -/

/-- A floating-point number taken apart. -/
inductive Parts
  | notFinite
  | zero (negative : Bool)
  | nonzero (negative : Bool) (magnitude : Binary)

/-- Takes apart a bit pattern with a sign bit, `range` exponents and `unit` mantissas; the
least exponent is `least`. -/
def partsOf (unit range : Nat) (least : Int) (bits : Nat) : Parts :=
  let negative := decide (range * unit ≤ bits)
  let biased := bits / unit % range
  let mantissa := bits % unit
  if biased = range - 1 then .notFinite
  else if biased = 0 then
    if mantissa = 0 then .zero negative else .nonzero negative ⟨mantissa, least, false⟩
  else
    .nonzero negative
      ⟨unit + mantissa, least + (biased : Int) - 1, decide (mantissa = 0 ∧ 1 < biased)⟩

/-- The parts of a single: twenty-three bits of mantissa and eight of exponent. -/
def partsOfSingle (x : Float32) : Parts := partsOf (1 <<< 23) (1 <<< 8) (-149) x.toBits.toNat

/-- The parts of a double: fifty-two bits of mantissa and eleven of exponent. -/
def partsOfDouble (x : Float) : Parts := partsOf (1 <<< 52) (1 <<< 11) (-1074) x.toBits.toNat

end Swimlane.Decimal
