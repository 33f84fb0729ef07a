import TraceViewer.Json.Value

/-!
# Records and tagged unions in JSON

A record is an object whose fields are found by name.  Fields that the record
does not name are skipped, and a field that it does name may occur once.  A
record may also be written as an array of its fields in their fixed order, where
only fields with a default may be left out, and only at the end.

`Layout` says which fields a record has and how many of them an array has to
hold.  `Json.record?` brings either form into a list of named fields, so that the
rest of a decoder does not depend on the form.

A tagged union is an object with one field that says which case it is, anywhere
among the fields of the case, or an array that starts with that tag.
-/

namespace TraceViewer.Json

/-- The fields of a record in their fixed order. -/
structure Layout where
  /-- The names of the fields. -/
  names : List String
  /-- How many leading fields an array has to hold. -/
  least : Nat
deriving Repr, DecidableEq

/-- The named fields of a record. -/
abbrev Fields := List (String × Json)

/-- The fields of a record: those of an object in which no field of the record
occurs twice, or the items of an array under the names of their positions. -/
def record? (layout : Layout) : Json → Option Fields
  | .object fields =>
    if layout.names.all fun name => fields.countP (·.1 == name) ≤ 1 then some fields else none
  | .array items =>
    if layout.least ≤ items.length ∧ items.length ≤ layout.names.length then
      some (layout.names.zip items)
    else none
  | _ => none

/-- The fields of an object. -/
def fields? : Json → Option Fields
  | .object fields => some fields
  | _ => none

namespace Fields

/-- The value of a field that has to be there. -/
def required {α : Type} (fields : Fields) (name : String) (read : Json → Option α) : Option α :=
  (fields.lookup name).bind read

/-- The value of a field that may be `null` or missing. -/
def nullable {α : Type} (fields : Fields) (name : String) (read : Json → Option α) :
    Option (Option α) :=
  match fields.lookup name with
  | none => some none
  | some value => value.option? read

/-- The value of a field that has a default when it is missing. -/
def defaulted {α : Type} (fields : Fields) (name : String) (read : Json → Option α)
    (default : α) : Option α :=
  match fields.lookup name with
  | none => some default
  | some value => read value

end Fields

/-! ## Names and tags -/

/-- A name that stands for itself: a string, or an object with that one name and
no content. -/
def name? : Json → Option String
  | .string name => some name
  | .object [(name, .null)] => some name
  | _ => none

/-- A name inside a tagged union, where the empty object too is no content. -/
def enclosedName? : Json → Option String
  | .object [(name, .object [])] => some name
  | value => value.name?

/-- The tag of a union and the record of its fields without the tag. -/
def union? (tag : String) : Json → Option (Json × Json)
  | .object fields =>
    match fields.filter (·.1 == tag) with
    | [(_, value)] => some (value, .object (fields.filter (·.1 != tag)))
    | _ => none
  | .array (value :: items) => some (value, .array items)
  | _ => none

/-- A case of a union that has no fields: any object, or the empty array. -/
def unit? : Json → Option Unit
  | .object _ => some ()
  | .array [] => some ()
  | _ => none

/-- The entries of a map: the fields of an object, of which the last one under a
name counts. -/
def entries? {α : Type} (read : Json → Option α) : Json → Option (List (String × α))
  | .object fields => fields.mapM fun (name, value) => (read value).map (name, ·)
  | _ => none

end TraceViewer.Json
