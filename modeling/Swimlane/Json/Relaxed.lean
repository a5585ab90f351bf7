import Swimlane.Json.Sketch
import Swimlane.Text.Identifier

/-!
# Relaxed JSON

JSON as people write it by hand: with comments, commas after the last item, names without
quotes, single quotes, signs before numbers, points at either end of a number, and
hexadecimal numbers.  Numbers without point and exponent have to fit sixty-four bits with
a sign, and others the range of doubles; the words for numbers that are not finite have the
value null.
-/

namespace Swimlane.Json.Relaxed

open Swimlane.Json

/-! ## Gaps -/

/-- The characters that end a line. -/
def isLineEnd (c : Char) : Bool := c = '\n' || c = '\r' || c = '\u2028' || c = '\u2029'

/-- Space separators, tabulators, the byte order mark and the ends of lines. -/
def isGap (c : Char) : Bool :=
  c = '\t' || c = '\x0b' || c = '\x0c' || c = '\ufeff' || isLineEnd c || (isBlank c && c ≠ '\u0085')

/-- What follows the end of a block comment. -/
def afterBlock : Text → Option Text
  | [] => none
  | '*' :: '/' :: rest => some rest
  | _ :: rest => afterBlock rest

/-- The text from its next character outside white space and comments; `none` inside a
block comment without end.  The `fuel` bounds the number of comments. -/
def skipGaps (fuel : Nat) (s : Text) : Option Text :=
  match fuel with
  | 0 => none
  | fuel + 1 =>
      match s.dropWhile isGap with
      | '/' :: '*' :: rest => (afterBlock rest).bind (skipGaps fuel)
      | '/' :: '/' :: rest => skipGaps fuel (rest.dropWhile (!isLineEnd ·))
      | rest => some rest

/-- The text from its next character outside white space and comments.  A block comment
without end is left in place, where no value begins. -/
def skipGap (s : Text) : Text := (skipGaps (s.length + 1) s).getD ['/']

/-! ## Numbers -/

/-- The double that a decimal text stands for, rounded to nearest; none beyond the range
of doubles. -/
def doubleOf? (digits : Text) (power : Int) : Option Float :=
  let significant := digits.dropWhile (· = '0')
  let magnitude := (significant.length : Int) + power
  if significant = [] ∨ magnitude < -400 then some 0
  else if 400 < magnitude then none
  else
    let x := Float.ofScientific (digitsValue significant) (decide (power < 0)) power.natAbs
    if x.isFinite then some x else none

/-- The value of a decimal number.  Without point and exponent it must fit a signed word
of sixty-four bits, and else the range of doubles. -/
def decimalValue? (t : Numeral) : Option Json :=
  if t.pointed || t.exponent.isSome then
    (doubleOf? (t.whole ++ t.fraction) (t.exponent.getD 0 - t.fraction.length)).map fun x =>
      .number (.double (if t.negative then -x else x))
  else
    let n : Int := digitsValue t.whole
    let n := if t.negative then -n else n
    if Int64.minValue.toInt ≤ n ∧ n ≤ Int64.maxValue.toInt then some (.number (.whole n)) else none

/-- Reads an exponent with at least one digit, if there is one. -/
def readExponent (s : Text) : Option Int × Text :=
  match s with
  | 'e' :: rest | 'E' :: rest =>
      let (negative, digits) :=
        match rest with
        | '-' :: rest => (true, rest)
        | '+' :: rest => (false, rest)
        | _ => (false, rest)
      match digits.span Char.isDigit with
      | ([], _) => (none, s)
      | (digits, rest) =>
          let value : Int := digitsValue digits
          (some (if negative then -value else value), rest)
  | _ => (none, s)

/-- Reads a decimal number without sign: one zero or digits that begin otherwise, a
fraction, or both. -/
def readDecimal (negative : Bool) (s : Text) : Option (Numeral × Text) :=
  let (whole, afterWhole) :=
    match s with
    | '0' :: rest => (['0'], rest)
    | _ => s.span Char.isDigit
  match afterWhole with
  | '.' :: rest =>
      let (fraction, rest) := rest.span Char.isDigit
      if whole = [] ∧ fraction = [] then none
      else
        let (exponent, rest) := readExponent rest
        some (⟨negative, whole, fraction, exponent, true⟩, rest)
  | _ =>
      if whole = [] then none
      else
        let (exponent, rest) := readExponent afterWhole
        some (⟨negative, whole, [], exponent, false⟩, rest)

/-- The value of hexadecimal digits. -/
def hexValue (digits : Text) : Nat := digits.foldl (fun n c => 16 * n + (hexValue? c).getD 0) 0

/-- Reads a number: hexadecimal without sign and within thirty-two bits, decimal, or one
of the two words for numbers that are not finite. -/
def readNumber (s : Text) : Option (Json × Text) :=
  let (sign, s) :=
    match s with
    | '-' :: rest => (some '-', rest)
    | '+' :: rest => (some '+', rest)
    | _ => (none, s)
  let hex :=
    match s with
    | '0' :: 'x' :: rest | '0' :: 'X' :: rest => rest.span (fun c => (hexValue? c).isSome)
    | _ => ([], s)
  if hex.1 ≠ [] then
    let n := hexValue hex.1
    if sign = none ∧ n < UInt32.size then some (.number (.whole n), hex.2) else none
  else if startsWith "Infinity".toList s then
    if sign = some '+' then none else some (.null, s.drop 8)
  else if startsWith "NaN".toList s then
    if sign = some '+' then none else some (.null, s.drop 3)
  else do
    let (t, rest) ← readDecimal (sign = some '-') s
    return (← decimalValue? t, rest)

/-! ## Texts and names -/

/-- The character that a letter stands for after a backslash and before `rest`: itself,
unless it is a letter of its own meaning.  The ends of lines and digits do not stand there,
but for a zero that no digit follows. -/
def escapedChar? (c : Char) (rest : Text) : Option Char :=
  match c with
  | 'b' => some '\x08'
  | 'f' => some '\x0c'
  | 'n' => some '\n'
  | 'r' => some '\r'
  | 't' => some '\t'
  | 'v' => some '\x0b'
  | '0' => if rest.head?.any Char.isDigit then none else some '\x00'
  | _ => if c.isDigit || c = 'x' || c = 'u' || isLineEnd c then none else some c

/-- Reads four hexadecimal digits. -/
def readHex4 : Text → Option (Nat × Text)
  | a :: b :: c :: d :: rest => (hexValue4? a b c d).map fun n => (n, rest)
  | _ => none

/-- The character that a pair names.  The bits of its halves are laid over the seventeenth
bit, not added to it, so that pairs beyond the first plane of supplementary characters lose
that bit. -/
def overlaidChar (high low : Nat) : Char :=
  Char.ofNat ((high - 0xD800) * 0x400 ||| (low - 0xDC00) ||| 0x10000)

/-- The text after the ends of lines that backslashes continue. -/
def skipContinued : Text → Text
  | '\\' :: '\r' :: '\n' :: rest => skipContinued rest
  | '\\' :: c :: rest => if isLineEnd c then skipContinued rest else '\\' :: c :: rest
  | s => s

/-- Reads the rest of a Unicode escape: four hexadecimal digits, and those of a second
escape if the first names the first half of a pair.  Between the two the text may be
continued on further lines, if it is in quotes. -/
def readUnicode (inQuotes : Bool) (s : Text) : Option (Char × Text) := do
  let (n, rest) ← readHex4 s
  if isLowHalf n then none
  else if isHighHalf n then
    match if inQuotes then skipContinued rest else rest with
    | '\\' :: 'u' :: rest =>
        let (m, rest) ← readHex4 rest
        if isLowHalf m then some (overlaidChar n m, rest) else none
    | _ => none
  else some (Char.ofNat n, rest)

/-- Reads a text up to its closing quote.  A backslash before the end of a line continues
the text on the next line.  Every step takes a character off the text. -/
def readText (fuel : Nat) (quote : Char) (done : Text) (s : Text) : Option (Text × Text) :=
  match fuel with
  | 0 => none
  | fuel + 1 =>
      match s with
      | [] => none
      | '\\' :: 'u' :: rest =>
          match readUnicode true rest with
          | some (c, rest) => readText fuel quote (c :: done) rest
          | none => none
      | '\\' :: 'x' :: a :: b :: rest =>
          match hexValue? a, hexValue? b with
          | some m, some n => readText fuel quote (Char.ofNat (16 * m + n) :: done) rest
          | _, _ => none
      | '\\' :: '\r' :: '\n' :: rest => readText fuel quote done rest
      | '\\' :: c :: rest =>
          if isLineEnd c then readText fuel quote done rest
          else
            match escapedChar? c rest with
            | some d => readText fuel quote (d :: done) rest
            | none => none
      | c :: rest =>
          if c = quote then some (done.reverse, rest)
          else if c = '\\' || isLineEnd c then none
          else readText fuel quote (c :: done) rest

/-- Reads the characters of a name from its second on. -/
def readName (fuel : Nat) (done : Text) (s : Text) : Option (Text × Text) :=
  match fuel with
  | 0 => none
  | fuel + 1 =>
      match s with
      | '\\' :: 'u' :: rest =>
          match readUnicode false rest with
          | some (c, rest) => readName fuel (c :: done) rest
          | none => none
      | c :: rest =>
          if continuesIdentifier c then readName fuel (c :: done) rest else some (done.reverse, s)
      | [] => some (done.reverse, s)

/-- Reads the name of a field, in quotes or as an identifier. -/
def readKey (s : Text) : Option (Text × Text) :=
  match s with
  | '"' :: rest => readText (rest.length + 1) '"' [] rest
  | '\'' :: rest => readText (rest.length + 1) '\'' [] rest
  | '\\' :: 'u' :: rest => do
      let (c, rest) ← readUnicode false rest
      readName (rest.length + 1) [c] rest
  | c :: rest => if beginsIdentifier c then readName (rest.length + 1) [c] rest else none
  | [] => none

/-! ## Values -/

mutual

/-- Reads a value; every step takes a character off the text, so that `fuel` beyond twice
its length is never used. -/
def readValue (fuel : Nat) (s : Text) : Option (Json × Text) :=
  match fuel with
  | 0 => none
  | fuel + 1 =>
      match skipGap s with
      | 'n' :: 'u' :: 'l' :: 'l' :: rest => some (.null, rest)
      | 't' :: 'r' :: 'u' :: 'e' :: rest => some (.bool true, rest)
      | 'f' :: 'a' :: 'l' :: 's' :: 'e' :: rest => some (.bool false, rest)
      | '"' :: rest => (readText (rest.length + 1) '"' [] rest).map fun (t, r) => (.text t, r)
      | '\'' :: rest => (readText (rest.length + 1) '\'' [] rest).map fun (t, r) => (.text t, r)
      | '[' :: rest =>
          match skipGap rest with
          | ']' :: rest => some (.list [], rest)
          | rest => (readItems fuel rest).map fun (items, r) => (.list items, r)
      | '{' :: rest =>
          match skipGap rest with
          | '}' :: rest => some (.object [], rest)
          | rest => (readFields fuel rest).map fun (fields, r) => (.ofFields fields, r)
      | rest => readNumber rest

/-- Reads the items of a list up to its end. -/
def readItems (fuel : Nat) (s : Text) : Option (List Json × Text) :=
  match fuel with
  | 0 => none
  | fuel + 1 => do
      let (item, rest) ← readValue fuel s
      match skipGap rest with
      | ']' :: rest => return ([item], rest)
      | ',' :: rest =>
          match skipGap rest with
          | ']' :: rest => return ([item], rest)
          | rest =>
              let (items, rest) ← readItems fuel rest
              return (item :: items, rest)
      | _ => none

/-- Reads the fields of an object up to its end. -/
def readFields (fuel : Nat) (s : Text) : Option (List (Text × Json) × Text) :=
  match fuel with
  | 0 => none
  | fuel + 1 => do
      let (name, rest) ← readKey (skipGap s)
      match skipGap rest with
      | ':' :: rest =>
          let (value, rest) ← readValue fuel rest
          match skipGap rest with
          | '}' :: rest => return ([(name, value)], rest)
          | ',' :: rest =>
              match skipGap rest with
              | '}' :: rest => return ([(name, value)], rest)
              | rest =>
                  let (fields, rest) ← readFields fuel rest
                  return ((name, value) :: fields, rest)
          | _ => none
      | _ => none

end

/-- The value of a relaxed JSON text. -/
def read? (s : Text) : Option Json := do
  let (value, rest) ← readValue (2 * s.length + 2) s
  if skipGap rest = [] then some value else none

end Swimlane.Json.Relaxed
