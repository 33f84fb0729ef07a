/-!
# JSON values

A value keeps the distinctions its readers rely on: a number written as a whole
is not a decimal, and an object is a list of fields, so that a name given twice
can still be told from a name given once.

`Json.unreadable` stands for text that is well formed but denotes nothing: a
string with half of a surrogate pair, a decimal beyond the floating-point
numbers, or a list or object nested too deep.  Such a value may be skipped, and
every reader refuses it.
-/

namespace TraceViewer

/-- A JSON value, with its object fields in the order they were written. -/
inductive Json where
  | null
  | bool (value : Bool)
  | integer (value : Int)
  | decimal (value : Float)
  | string (text : String)
  | array (items : List Json)
  | object (fields : List (String × Json))
  | unreadable
deriving Inhabited

namespace Json

/-! ## Measures over a whole value -/

mutual

/-- The number of nested arrays and objects around the innermost value. -/
def depth : Json → Nat
  | .array items => depthOfItems items + 1
  | .object fields => depthOfFields fields + 1
  | _ => 0

/-- The greatest depth among the items of an array. -/
def depthOfItems : List Json → Nat
  | [] => 0
  | item :: rest => max item.depth (depthOfItems rest)

/-- The greatest depth among the values of an object. -/
def depthOfFields : List (String × Json) → Nat
  | [] => 0
  | (_, value) :: rest => max value.depth (depthOfFields rest)

end

mutual

/-- Whether no part of the value is unreadable. -/
def isReadable : Json → Bool
  | .array items => allReadable items
  | .object fields => allFieldsReadable fields
  | .unreadable => false
  | _ => true

/-- Whether every item of an array is readable. -/
def allReadable : List Json → Bool
  | [] => true
  | item :: rest => item.isReadable && allReadable rest

/-- Whether every value of an object is readable. -/
def allFieldsReadable : List (String × Json) → Bool
  | [] => true
  | (_, value) :: rest => value.isReadable && allFieldsReadable rest

end

/-! ## Building values -/

/-- A natural number as a JSON integer. -/
def ofNat (n : Nat) : Json := .integer n

/-- An optional value: `null` when there is none. -/
def ofOption {α : Type} (encode : α → Json) : Option α → Json
  | none => .null
  | some a => encode a

/-- A list, item by item. -/
def ofList {α : Type} (encode : α → Json) (items : List α) : Json :=
  .array (items.map encode)

/-! ## Reading plain values -/

/-- The text of a string. -/
def string? : Json → Option String
  | .string text => some text
  | _ => none

/-- The truth value of a boolean. -/
def bool? : Json → Option Bool
  | .bool value => some value
  | _ => none

/-- The value of a number written as a whole. -/
def integer? : Json → Option Int
  | .integer n => some n
  | _ => none

/-- The value of a whole number that is not negative. -/
def nat? : Json → Option Nat
  | .integer (.ofNat n) => some n
  | _ => none

/-- The value of a whole number below `2 ^ 32`. -/
def uint32? : Json → Option UInt32
  | .integer (.ofNat n) => if n < UInt32.size then some (.ofNat n) else none
  | _ => none

/-- The value of a whole number from `-2 ^ 63` up to `2 ^ 63`, the latter excluded. -/
def int64? : Json → Option Int64
  | .integer n =>
    if Int64.minValue.toInt ≤ n ∧ n ≤ Int64.maxValue.toInt then some (.ofInt n) else none
  | _ => none

/-- The floating-point number nearest a JSON number. -/
def float? : Json → Option Float
  | .integer n => some (.ofInt n)
  | .decimal value => some value
  | _ => none

/-- The items of an array, each read by `read`. -/
def list? {α : Type} (read : Json → Option α) : Json → Option (List α)
  | .array items => items.mapM read
  | _ => none

/-- An absent value for `null`, and otherwise what `read` makes of it. -/
def option? {α : Type} (read : Json → Option α) : Json → Option (Option α)
  | .null => some none
  | value => (read value).map some

end Json

end TraceViewer
