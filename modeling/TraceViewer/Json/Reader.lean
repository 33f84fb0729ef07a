import TraceViewer.Json.Numeral

/-!
# Reading JSON

The reader takes a value from the head of a text and returns what follows it.
Blanks (space, tab, line feed, carriage return) may stand between any two parts;
nothing else may follow the value.

A text that is not JSON is refused as a whole.  Three faults only spoil the
value they occur in, which is then `Json.unreadable`: a surrogate half without
its partner in a string, a decimal beyond the floating-point numbers, and an
array or object inside more than `nestingLimit` others.

The recursion is on a fuel that bounds the depth of the calls.  An opening
bracket leads three calls deeper and every further item or field one call, so
three units for each character of the text are fuel enough.
-/

namespace TraceViewer.Json

/-- The greatest number of arrays and objects around each other that are read. -/
def nestingLimit : Nat := 127

/-- The characters that may stand between two parts of a text. -/
def isBlank (c : Char) : Bool :=
  c = ' ' || c = '\t' || c = '\n' || c = '\r'

/-- A text without its leading blanks. -/
def skipBlanks (text : List Char) : List Char := text.dropWhile isBlank

/-! ## Strings -/

/-- The value of a hexadecimal digit. -/
def hexValue (c : Char) : Option Nat :=
  if '0' ≤ c ∧ c ≤ '9' then some (c.toNat - '0'.toNat)
  else if 'a' ≤ c ∧ c ≤ 'f' then some (c.toNat - 'a'.toNat + 10)
  else if 'A' ≤ c ∧ c ≤ 'F' then some (c.toNat - 'A'.toNat + 10)
  else none

/-- The code unit written as four hexadecimal digits. -/
def hexUnit (a b c d : Char) : Option Nat := do
  return (((← hexValue a) * 16 + (← hexValue b)) * 16 + (← hexValue c)) * 16 + (← hexValue d)

/-- What one element of a quoted string contributes: a character, or a code unit
that is half of a surrogate pair. -/
inductive StringUnit where
  | char (c : Char)
  | high (unit : Nat)
  | low (unit : Nat)
deriving Repr, DecidableEq

/-- The contribution of a code unit. -/
def StringUnit.ofUnit (unit : Nat) : StringUnit :=
  if 0xD800 ≤ unit ∧ unit < 0xDC00 then .high unit
  else if 0xDC00 ≤ unit ∧ unit < 0xE000 then .low unit
  else .char (Char.ofNat unit)

/-- The character of an escape that is a single letter. -/
def escapedChar : Char → Option Char
  | '"' => some '"'
  | '\\' => some '\\'
  | '/' => some '/'
  | 'b' => some '\x08'
  | 'f' => some '\x0c'
  | 'n' => some '\n'
  | 'r' => some '\r'
  | 't' => some '\t'
  | _ => none

/-- The elements of a string up to its closing quotation mark, and what follows
it.  Control characters have to be escaped. -/
def readUnits : List Char → Option (List StringUnit × List Char)
  | [] => none
  | '"' :: rest => some ([], rest)
  | '\\' :: 'u' :: a :: b :: c :: d :: text => do
    let unit ← hexUnit a b c d
    let (units, rest) ← readUnits text
    return (.ofUnit unit :: units, rest)
  | '\\' :: letter :: text => do
    let c ← escapedChar letter
    let (units, rest) ← readUnits text
    return (.char c :: units, rest)
  | c :: text =>
    if c = '\\' ∨ c.toNat < 0x20 then none
    else do
      let (units, rest) ← readUnits text
      return (.char c :: units, rest)

/-- The characters of a string, when every surrogate half has its partner. -/
def joinUnits : List StringUnit → Option (List Char)
  | [] => some []
  | .char c :: rest => do return c :: (← joinUnits rest)
  | .high h :: .low l :: rest => do
    return Char.ofNat (0x10000 + (h - 0xD800) * 0x400 + (l - 0xDC00)) :: (← joinUnits rest)
  | .high _ :: _ => none
  | .low _ :: _ => none

/-- A string after its opening quotation mark: its text, unless a surrogate half
spoils it, and what follows it. -/
def readString (text : List Char) : Option (Option String × List Char) := do
  let (units, rest) ← readUnits text
  return ((joinUnits units).map String.ofList, rest)

/-! ## Values -/

/-- The rest of a text after a fixed word. -/
def readWord (word : List Char) (value : Json) (text : List Char) : Option (Json × List Char) :=
  if text.take word.length = word then some (value, text.drop word.length) else none

/-- An object, unless one of its names is unreadable. -/
def objectOfFields (fields : List (Option String × Json)) : Json :=
  match fields.mapM fun (name, value) => name.map (·, value) with
  | some fields => .object fields
  | none => .unreadable

mutual

/-- A value at the head of a text inside `nesting` arrays and objects. -/
def readValue (nesting : Nat) : Nat → List Char → Option (Json × List Char)
  | 0, _ => none
  | fuel + 1, text =>
    match skipBlanks text with
    | '"' :: text => do
      let (content, rest) ← readString text
      return (content.elim .unreadable .string, rest)
    | '[' :: text => do
      let (items, rest) ← readItems (nesting + 1) fuel text
      return (if nesting < nestingLimit then .array items else .unreadable, rest)
    | '\x7b' :: text => do
      let (fields, rest) ← readFields (nesting + 1) fuel text
      return (if nesting < nestingLimit then objectOfFields fields else .unreadable, rest)
    | 'n' :: text => readWord ['u', 'l', 'l'] .null text
    | 't' :: text => readWord ['r', 'u', 'e'] (.bool true) text
    | 'f' :: text => readWord ['a', 'l', 's', 'e'] (.bool false) text
    | text => do
      let (numeral, rest) ← readNumeral text
      return (numeral.toJson, rest)

/-- The items of an array after its opening bracket. -/
def readItems (nesting : Nat) : Nat → List Char → Option (List Json × List Char)
  | 0, _ => none
  | fuel + 1, text =>
    match skipBlanks text with
    | ']' :: rest => some ([], rest)
    | text => readMoreItems nesting fuel text

/-- The items of an array, of which there is at least one more. -/
def readMoreItems (nesting : Nat) : Nat → List Char → Option (List Json × List Char)
  | 0, _ => none
  | fuel + 1, text => do
    let (item, text) ← readValue nesting fuel text
    match skipBlanks text with
    | ']' :: rest => return ([item], rest)
    | ',' :: text =>
      let (items, rest) ← readMoreItems nesting fuel text
      return (item :: items, rest)
    | _ => none

/-- The fields of an object after its opening brace. -/
def readFields (nesting : Nat) : Nat → List Char → Option (List (Option String × Json) × List Char)
  | 0, _ => none
  | fuel + 1, text =>
    match skipBlanks text with
    | '\x7d' :: rest => some ([], rest)
    | text => readMoreFields nesting fuel text

/-- The fields of an object, of which there is at least one more. -/
def readMoreFields (nesting : Nat) :
    Nat → List Char → Option (List (Option String × Json) × List Char)
  | 0, _ => none
  | fuel + 1, text =>
    match skipBlanks text with
    | '"' :: text => do
      let (name, text) ← readString text
      match skipBlanks text with
      | ':' :: text =>
        let (value, text) ← readValue nesting fuel text
        match skipBlanks text with
        | '\x7d' :: rest => return ([(name, value)], rest)
        | ',' :: text =>
          let (fields, rest) ← readMoreFields nesting fuel text
          return ((name, value) :: fields, rest)
        | _ => none
      | _ => none
    | _ => none

end

/-- The value that a text denotes, when the text is JSON. -/
def ofText? (text : String) : Option Json := do
  let characters := text.toList
  let (value, rest) ← readValue 0 (3 * characters.length + 3) characters
  if (skipBlanks rest).isEmpty then some value else none

end TraceViewer.Json
