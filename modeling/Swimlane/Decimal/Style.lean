import Swimlane.Decimal.Shortest

/-!
# How a decimal is laid out

Between two exponents a number is written positionally, with at least one digit on either
side of the point; beyond them it is written as a mantissa and a signed exponent.
-/

namespace Swimlane.Decimal

/-- The exponents, of the first digit, between which a number is written positionally. -/
structure Style where
  least : Int
  greatest : Int

/-- `count` zeros. -/
def zeros (count : Nat) : Text := List.replicate count '0'

/-- A number without the zeros at its end. -/
def dropZeros (digits : Text) : Text := (digits.reverse.dropWhile (· = '0')).reverse

/-- Digits with the point after the one of exponent zero, when the first has exponent
`e`. -/
def positional (digits : Text) (e : Int) : Text :=
  if e < 0 then '0' :: '.' :: zeros ((-e).toNat - 1) ++ digits
  else
    let whole := digits.take (e.toNat + 1)
    let rest := digits.drop (e.toNat + 1)
    whole ++ zeros (e.toNat + 1 - whole.length) ++ '.' :: (if rest = [] then ['0'] else rest)

/-- Digits with the point after the first, and the exponent of the first. -/
def scientific (digits : Text) (e : Int) : Text :=
  let sign := if e < 0 then '-' else '+'
  let power := 'e' :: sign :: decimal e.natAbs
  match digits with
  | [] => power
  | [d] => d :: power
  | d :: rest => d :: '.' :: rest ++ power

/-- The text of a decimal. -/
def Style.write (style : Style) (n : Numeral) : Text :=
  let all := decimal n.digits
  let e := n.exponent + (all.length : Int) - 1
  let digits := dropZeros all
  if style.least ≤ e ∧ e ≤ style.greatest then positional digits e else scientific digits e

/-- The text of a floating-point number, by its parts; numbers that are not finite have
none. -/
def Style.text? (style : Style) : Parts → Option Text
  | .notFinite => none
  | .zero negative => some (if negative then "-0.0".toList else "0.0".toList)
  | .nonzero negative b =>
      let text := style.write b.shortest
      some (if negative then '-' :: text else text)

end Swimlane.Decimal
