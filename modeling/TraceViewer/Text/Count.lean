/-!
# Counts written in decimal

A count is written as decimal digits, with an optional plus sign in front, and
stays below `2 ^ 64`.
-/

namespace TraceViewer.Text

/-- The largest count, `2 ^ 64 - 1`. -/
def maxCount : Nat := UInt64.size - 1

/-- The value of a run of decimal digits, when there is at least one digit and
no other character. -/
def digits? : List Char → Option Nat
  | [] => none
  | digits =>
    if digits.all Char.isDigit then
      some (digits.foldl (fun value c => value * 10 + (c.toNat - '0'.toNat)) 0)
    else none

/-- The digits of a count without its optional plus sign. -/
def unsigned : List Char → List Char
  | '+' :: digits => digits
  | digits => digits

/-- The count that a text denotes. -/
def count? (text : List Char) : Option Nat := do
  let value ← digits? (unsigned text)
  if value ≤ maxCount then some value else none

end TraceViewer.Text
