import TraceViewer.Json.Value

/-!
# Writing JSON

A value is written without blanks, an object with its fields in their own
order.  In a string only the quotation mark, the backslash and the control
characters are escaped, a control character in its short form when it has one.

A decimal is written with its exact value: every finite floating-point number is
a whole number times a power of two, hence a whole number times a power of ten.
-/

namespace TraceViewer.Json

/-! ## Strings -/

/-- One lower-case hexadecimal digit. -/
def hexDigit (n : Nat) : Char :=
  if n < 10 then Char.ofNat ('0'.toNat + n) else Char.ofNat ('a'.toNat + (n - 10))

/-- The characters that stand for `c` inside a quoted string. -/
def escapeChar (c : Char) : List Char :=
  match c with
  | '"' => ['\\', '"']
  | '\\' => ['\\', '\\']
  | '\x08' => ['\\', 'b']
  | '\x09' => ['\\', 't']
  | '\x0a' => ['\\', 'n']
  | '\x0c' => ['\\', 'f']
  | '\x0d' => ['\\', 'r']
  | c =>
    if c.toNat < 0x20 then
      ['\\', 'u', '0', '0', hexDigit (c.toNat / 16), hexDigit (c.toNat % 16)]
    else [c]

/-- A string between quotation marks. -/
def quote (text : String) : String :=
  String.ofList ('"' :: text.toList.flatMap escapeChar ++ ['"'])

/-! ## Decimals -/

/-- A finite floating-point number with its exact digits.  With the significand
`m` and the exponent `q` of its binary form it is `m * 2 ^ q`, which for a
negative `q` equals `m * 5 ^ -q` with the point moved `-q` places. -/
def decimalText (value : Float) : String :=
  let bits := value.toBits.toNat
  let sign := if bits >>> 63 = 1 then "-" else ""
  let biased := (bits >>> 52) % 0x800
  let fraction := bits % 0x10000000000000
  let significand := if biased = 0 then fraction else fraction + 0x10000000000000
  let exponent : Int := (max biased 1 : Nat) - 1075
  let digits :=
    if 0 ≤ exponent then toString (significand <<< exponent.toNat) ++ ".0"
    else toString (significand * Nat.pow 5 (-exponent).toNat) ++ "e" ++ toString exponent
  sign ++ digits

/-! ## Values -/

mutual

/-- The text of a value.  What cannot be read is written as `null`. -/
def render : Json → String
  | .null => "null"
  | .bool true => "true"
  | .bool false => "false"
  | .integer n => toString n
  | .decimal value => decimalText value
  | .string text => quote text
  | .array items => "[" ++ String.intercalate "," (renderItems items) ++ "]"
  | .object fields => "\x7b" ++ String.intercalate "," (renderFields fields) ++ "\x7d"
  | .unreadable => "null"

/-- The texts of the items of an array. -/
def renderItems : List Json → List String
  | [] => []
  | item :: rest => item.render :: renderItems rest

/-- The texts of the fields of an object, each a quoted name, a colon and a value. -/
def renderFields : List (String × Json) → List String
  | [] => []
  | (name, value) :: rest => (quote name ++ ":" ++ value.render) :: renderFields rest

end

end TraceViewer.Json
