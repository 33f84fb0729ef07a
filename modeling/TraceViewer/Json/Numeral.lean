import TraceViewer.Json.Value

/-!
# JSON numbers

A number is an optional minus sign, digits without a superfluous leading zero,
an optional fraction and an optional exponent.  Without fraction and exponent it
is a whole number, provided it fits in 64 bits: from `-2 ^ 63` to `2 ^ 64 - 1`,
negative zero excepted.  Every other number is a floating-point number.

Its value is found in two roundings.  As many leading digits as fit in 64 bits
make the significand, which is rounded to a floating-point number; that number
is then multiplied or divided by a power of ten.  A result beyond the largest
finite number is refused.
-/

namespace TraceViewer.Json

/-- The largest significand, `2 ^ 64 - 1`. -/
def maxSignificand : Nat := UInt64.size - 1

/-- The value of a decimal digit. -/
def digitValue (c : Char) : Nat := c.toNat - '0'.toNat

/-- The value of a run of decimal digits. -/
def digitsValue (digits : List Char) : Nat :=
  digits.foldl (fun value c => value * 10 + digitValue c) 0

/-- Append digits to a significand as long as it stays within 64 bits; the
second component counts the digits taken. -/
def takeDigits (significand : Nat) : List Char → Nat × Nat
  | [] => (significand, 0)
  | c :: rest =>
    let longer := significand * 10 + digitValue c
    if longer ≤ maxSignificand then
      let (final, taken) := takeDigits longer rest
      (final, taken + 1)
    else (significand, 0)

/-- The floating-point number nearest `10 ^ n`. -/
def powerOfTen (n : Nat) : Float := Float.ofScientific 1 false n

/-- A floating-point number times `10 ^ exponent`, or nothing when that is
infinite.  A divisor beyond `10 ^ 308` is applied in two parts; one beyond
`10 ^ 616` leaves nothing of a 64-bit significand. -/
def scale (value : Float) (exponent : Int) : Option Float :=
  if value == 0 then some value
  else if 0 ≤ exponent then
    if exponent ≤ 308 then
      let product := value * powerOfTen exponent.toNat
      if product.isInf then none else some product
    else none
  else
    let places := (-exponent).toNat
    some (value / powerOfTen (min places 308) / powerOfTen (min (places - 308) 308))

/-- The parts of a number as they were written. -/
structure Numeral where
  /-- Whether a minus sign leads. -/
  negative : Bool
  /-- The digits before the point. -/
  whole : List Char
  /-- The digits after the point, when there is a point. -/
  fraction : Option (List Char)
  /-- The value after the `e`, when there is one. -/
  exponent : Option Int
deriving Repr, DecidableEq

namespace Numeral

/-- The floating-point value of a number. -/
def toFloat? (numeral : Numeral) : Option Float :=
  let (leading, taken) := takeDigits 0 numeral.whole
  let (significand, places) := takeDigits leading (numeral.fraction.getD [])
  let exponent : Int :=
    (numeral.whole.length - taken : Nat) - (places : Int) + numeral.exponent.getD 0
  (scale (Float.ofNat significand) exponent).map fun value =>
    if numeral.negative then -value else value

/-- The whole number that a number denotes, when it is written as one and fits. -/
def toInt? (numeral : Numeral) : Option Int :=
  if numeral.fraction.isSome || numeral.exponent.isSome then none
  else
    let magnitude := digitsValue numeral.whole
    if numeral.negative then
      if 0 < magnitude ∧ magnitude ≤ UInt64.size / 2 then some (-(magnitude : Int)) else none
    else if magnitude ≤ maxSignificand then some magnitude else none

/-- The value of a number. -/
def toJson (numeral : Numeral) : Json :=
  match numeral.toInt?, numeral.toFloat? with
  | some n, _ => .integer n
  | none, some value => .decimal value
  | none, none => .unreadable

end Numeral

/-! ## Reading a number -/

/-- The leading digits of a text and what follows them. -/
def spanDigits (text : List Char) : List Char × List Char :=
  (text.takeWhile Char.isDigit, text.dropWhile Char.isDigit)

/-- The digits before the point: a single zero, or digits that start with none. -/
def readWhole (text : List Char) : Option (List Char × List Char) :=
  match spanDigits text with
  | ([], _) => none
  | ('0' :: _ :: _, _) => none
  | (digits, rest) => some (digits, rest)

/-- A fraction, when a point follows: at least one digit. -/
def readFraction : List Char → Option (Option (List Char) × List Char)
  | '.' :: text =>
    match spanDigits text with
    | ([], _) => none
    | (digits, rest) => some (some digits, rest)
  | text => some (none, text)

/-- The sign of an exponent, positive unless a minus sign is written. -/
def readExponentSign : List Char → Bool × List Char
  | '-' :: text => (true, text)
  | '+' :: text => (false, text)
  | text => (false, text)

/-- An exponent, when one follows: an optional sign and at least one digit. -/
def readExponent (text : List Char) : Option (Option Int × List Char) :=
  match text with
  | c :: text' =>
    if c = 'e' ∨ c = 'E' then
      let (negative, unsigned) := readExponentSign text'
      match spanDigits unsigned with
      | ([], _) => none
      | (digits, rest) =>
        let magnitude : Int := digitsValue digits
        some (some (if negative then -magnitude else magnitude), rest)
    else some (none, text)
  | [] => some (none, text)

/-- A number at the head of a text, and what follows it. -/
def readNumeral (text : List Char) : Option (Numeral × List Char) := do
  let (negative, unsigned) := match text with
    | '-' :: rest => (true, rest)
    | _ => (false, text)
  let (whole, afterWhole) ← readWhole unsigned
  let (fraction, afterFraction) ← readFraction afterWhole
  let (exponent, rest) ← readExponent afterFraction
  return ({ negative, whole, fraction, exponent }, rest)

end TraceViewer.Json
