import Swimlane.Json.Numeral

/-!
# Words, numbers and quoted texts of JSON

What a JSON text is made of is looked at in two ways.  A word, a number or a quoted text
that matters is *read*; one that does not is *passed over*, with less care: a number may be
too great then, and the escapes of a text need not name characters.  Where the text goes
wrong, the result is a break: what is wrong, and where.  Places count bytes, because a
reader that goes byte by byte may stop within a character.
-/

namespace Swimlane.Json

/-! ## Places and flaws -/

/-- A place in a text: so many bytes ahead of what is left of the text there, though not
beyond its end. -/
structure Place where
  rest : Text
  ahead : Nat

/-- The place before the rest of a text. -/
def Place.before (rest : Text) : Place := ⟨rest, 0⟩

/-- The place after the first byte of the rest of a text. -/
def Place.onto (rest : Text) : Place := ⟨rest, 1⟩

/-- Ways in which a text is not JSON. -/
inductive Flaw
  | endInList
  | endInObject
  | endInText
  | endInValue
  | noColon
  | noListComma
  | noObjectComma
  | badWord
  | noValue
  | badEscape
  | badNumber
  | outOfRange
  | controlCharacter
  | noKey
  | loneSurrogate
  | brokenSurrogate
  | trailingComma
  | trailingCharacters

/-- A flaw and the place where it is found. -/
structure Break where
  flaw : Flaw
  place : Place

/-! ## Blanks, words and numbers -/

/-- The four blanks that JSON allows between values. -/
def isGap (c : Char) : Bool := c = ' ' || c = '\n' || c = '\t' || c = '\r'

/-- The text from its next character that is no gap. -/
def skipGap (s : Text) : Text := s.dropWhile isGap

/-- Reads the remaining characters of a word such as null. -/
def readWord : Text → Text → Except Break Text
  | [], s => .ok s
  | _ :: _, [] => .error ⟨.endInValue, .before []⟩
  | c :: word, d :: s => if c = d then readWord word s else .error ⟨.badWord, .onto (d :: s)⟩

/-- The greatest exponent that is kept digit by digit. -/
def greatestExponent : Nat := 2147483647

/-- What is left of a run of digits after the one with which their value exceeds the
greatest exponent, if it does; `value` is that of the digits so far. -/
def afterExcess? (value : Nat) : Text → Option Text
  | [] => none
  | c :: rest =>
      let next := 10 * value + digitValue c
      if !c.isDigit then none
      else if greatestExponent < next then some rest
      else afterExcess? next rest

/-- Reads at least one digit, as an exponent does. -/
def readExponentDigits (s : Text) : Except Break (Text × Text) :=
  match s with
  | [] => .error ⟨.endInValue, .before []⟩
  | c :: _ => if c.isDigit then .ok (s.span Char.isDigit) else .error ⟨.badNumber, .onto s⟩

/-- An exponent, and where a positive one became too great. -/
structure Exponent where
  value : Int
  excess : Option Text

/-- Reads an exponent, after its letter. -/
def readExponent (s : Text) : Except Break (Exponent × Text) := do
  let (negative, digits) :=
    match s with
    | '-' :: rest => (true, rest)
    | '+' :: rest => (false, rest)
    | _ => (false, s)
  let (run, rest) ← readExponentDigits digits
  let value : Int := digitsValue run
  return (if negative then ⟨-value, none⟩ else ⟨value, afterExcess? 0 digits⟩, rest)

/-- Reads the fraction of a number, if there is one. -/
def readFraction (s : Text) : Except Break (Text × Bool × Text) :=
  match s with
  | '.' :: rest =>
      match rest.span Char.isDigit with
      | ([], []) => .error ⟨.endInValue, .onto []⟩
      | ([], rest) => .error ⟨.badNumber, .onto rest⟩
      | (digits, rest) => .ok (digits, true, rest)
  | _ => .ok ([], false, s)

/-- Reads the whole digits of a number: a zero alone, or digits that begin otherwise. -/
def readWhole (s : Text) : Except Break (Text × Text) :=
  match s with
  | [] => .error ⟨.endInValue, .before []⟩
  | '0' :: rest =>
      match rest with
      | c :: _ => if c.isDigit then .error ⟨.badNumber, .onto rest⟩ else .ok (['0'], rest)
      | [] => .ok (['0'], rest)
  | c :: _ => if c.isDigit then .ok (s.span Char.isDigit) else .error ⟨.badNumber, .onto s⟩

/-- A number as it is written, and where its exponent became too great. -/
structure WrittenNumber where
  numeral : Numeral
  excess : Option Text

/-- Reads a number. -/
def readNumeral (s : Text) : Except Break (WrittenNumber × Text) := do
  let (negative, s) :=
    match s with
    | '-' :: rest => (true, rest)
    | _ => (false, s)
  let (whole, s) ← readWhole s
  let (fraction, pointed, s) ← readFraction s
  match s with
  | 'e' :: rest | 'E' :: rest =>
      let (exponent, rest) ← readExponent rest
      return (⟨⟨negative, whole, fraction, some exponent.value, pointed⟩, exponent.excess⟩, rest)
  | _ => return (⟨⟨negative, whole, fraction, none, pointed⟩, none⟩, s)

/-! ## Quoted texts -/

/-- The value of a hexadecimal digit. -/
def hexValue? (c : Char) : Option Nat :=
  if '0' ≤ c ∧ c ≤ '9' then some (c.toNat - '0'.toNat)
  else if 'a' ≤ c ∧ c ≤ 'f' then some (c.toNat - 'a'.toNat + 10)
  else if 'A' ≤ c ∧ c ≤ 'F' then some (c.toNat - 'A'.toNat + 10)
  else none

/-- The value of four hexadecimal digits. -/
def hexValue4? (a b c d : Char) : Option Nat := do
  return ((← hexValue? a) * 16 + (← hexValue? b)) * 256 + (← hexValue? c) * 16 + (← hexValue? d)

/-- What there is in place of four hexadecimal digits: the next four bytes are none. -/
def hexBreak (s : Text) : Break :=
  if byteCount (s.take 4) < 4 then ⟨.endInText, .before []⟩ else ⟨.badEscape, ⟨s, 4⟩⟩

/-- The character that a letter stands for after a backslash. -/
def escapedChar? : Char → Option Char
  | '"' => some '"'
  | '\\' => some '\\'
  | '/' => some '/'
  | 'b' => some '\x08'
  | 'f' => some '\x0c'
  | 'n' => some '\n'
  | 'r' => some '\r'
  | 't' => some '\t'
  | _ => none

/-- Is it the first half of a pair that names one character? -/
def isHighHalf (n : Nat) : Bool := decide (0xD800 ≤ n) && decide (n ≤ 0xDBFF)

/-- Is it the second half of such a pair? -/
def isLowHalf (n : Nat) : Bool := decide (0xDC00 ≤ n) && decide (n ≤ 0xDFFF)

/-- The character that a pair names. -/
def pairedChar (high low : Nat) : Char :=
  Char.ofNat (0x10000 + (high - 0xD800) * 0x400 + (low - 0xDC00))

/-- Reads a quoted text after its opening quote; `done` holds its characters so far, last
first. -/
def readText (done : Text) : Text → Except Break (Text × Text)
  | [] => .error ⟨.endInText, .before []⟩
  | '"' :: rest => .ok (done.reverse, rest)
  | '\\' :: 'u' :: a :: b :: c :: d :: rest =>
      match hexValue4? a b c d with
      | none => .error (hexBreak (a :: b :: c :: d :: rest))
      | some n =>
          if isLowHalf n then .error ⟨.loneSurrogate, .before rest⟩
          else if isHighHalf n then
            match rest with
            | '\\' :: 'u' :: a :: b :: c :: d :: rest =>
                match hexValue4? a b c d with
                | none => .error (hexBreak (a :: b :: c :: d :: rest))
                | some m =>
                    if isLowHalf m then readText (pairedChar n m :: done) rest
                    else .error ⟨.loneSurrogate, .before rest⟩
            | '\\' :: 'u' :: rest => .error (hexBreak rest)
            | ['\\'] | [] => .error ⟨.endInText, .before []⟩
            | '\\' :: rest => .error ⟨.brokenSurrogate, .onto rest⟩
            | rest => .error ⟨.brokenSurrogate, .onto rest⟩
          else readText (Char.ofNat n :: done) rest
  | '\\' :: 'u' :: rest => .error (hexBreak rest)
  | '\\' :: c :: rest =>
      match escapedChar? c with
      | some d => readText (d :: done) rest
      | none => .error ⟨.badEscape, .onto (c :: rest)⟩
  | c :: rest =>
      if c = '\\' then .error ⟨.endInText, .before []⟩
      else if c.toNat < 0x20 then .error ⟨.controlCharacter, .before rest⟩
      else readText (c :: done) rest

/-- Passes over a quoted text after its opening quote: its escapes have to be escapes, but
need not name characters. -/
def passText : Text → Except Break Text
  | [] => .error ⟨.endInText, .before []⟩
  | '"' :: rest => .ok rest
  | '\\' :: 'u' :: a :: b :: c :: d :: rest =>
      match hexValue4? a b c d with
      | none => .error (hexBreak (a :: b :: c :: d :: rest))
      | some _ => passText rest
  | '\\' :: 'u' :: rest => .error (hexBreak rest)
  | '\\' :: c :: rest =>
      match escapedChar? c with
      | some _ => passText rest
      | none => .error ⟨.badEscape, .onto (c :: rest)⟩
  | c :: rest =>
      if c = '\\' then .error ⟨.endInText, .before []⟩
      else if c.toNat < 0x20 then .error ⟨.controlCharacter, .before (c :: rest)⟩
      else passText rest

end Swimlane.Json
