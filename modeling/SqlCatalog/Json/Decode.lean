import SqlCatalog.Json.Basic

/-!
# Reading JSON values

Readers for the shapes that the catalogue stores.  A value of another shape is
refused with the shape that was wanted.  The parts of a record are found by
name in an object and by place in a sequence: an object that lacks a part is
refused with the name of that part, a sequence with the number of its items.
-/

namespace SqlCatalog

/-- A shape that a value is wanted to have. -/
inductive Shape where
  | text
  | flag
  | sequence
  | column
  | table
deriving DecidableEq, Repr

/-- The name of a shape in a complaint. -/
def Shape.display : Shape → String
  | text => "a string"
  | flag => "a boolean"
  | sequence => "a sequence"
  | column => "struct Column"
  | table => "struct Table"

/-- Why a value cannot be read. -/
inductive DecodeFault where
  /-- The value has not the shape that was wanted. -/
  | wrongType (found : Json) (wanted : Shape)
  /-- The object lacks a field. -/
  | missingField (name : String)
  /-- The sequence has fewer items than the record has parts. -/
  | tooFewItems (found : Nat) (wanted : Shape) (parts : Nat)
  /-- The sequence has more items than the record has parts. -/
  | tooManyItems (found : Nat)
deriving Repr

/-- The wording of the fault. -/
def DecodeFault.message : DecodeFault → String
  | wrongType found wanted =>
    "invalid type: " ++ found.describe ++ ", expected " ++ wanted.display
  | missingField name => "missing field `" ++ name ++ "`"
  | tooFewItems found wanted parts =>
    "invalid length " ++ found.repr ++ ", expected " ++ wanted.display ++
      " with " ++ parts.repr ++ " elements"
  | tooManyItems found =>
    "invalid length " ++ found.repr ++ ", expected fewer elements in array"

namespace Json

/-- Reads a text. -/
def toText : Json → Except DecodeFault String
  | string value => .ok value
  | other => .error (.wrongType other .text)

/-- Reads a truth value. -/
def toFlag : Json → Except DecodeFault Bool
  | bool value => .ok value
  | other => .error (.wrongType other .flag)

/-- Reads a sequence. -/
def toSequence : Json → Except DecodeFault (List Json)
  | array items => .ok items
  | other => .error (.wrongType other .sequence)

/-- The part of a record with the given name, in an object. -/
def field (fields : List (String × Json)) (name : String) :
    Except DecodeFault Json :=
  match fields.lookup name with
  | none => .error (.missingField name)
  | some value => .ok value

/--
The part of a record with the given name, in a sequence that lists the parts
in the order of `names`.
-/
def item (wanted : Shape) (names : List String) (items : List Json)
    (name : String) :
    Except DecodeFault Json :=
  match items[names.idxOf name]? with
  | none => .error (.tooFewItems items.length wanted names.length)
  | some value => .ok value

/-- The complaint of a reader about a value. -/
def refusal? {α : Type} (reader : Json → Except DecodeFault α) (value : Json) :
    Option DecodeFault :=
  match reader value with
  | .ok _ => none
  | .error fault => some fault

/--
The first complaint about fields that are present, in the order of the object.
A field that no complaint is known of is passed over.
-/
def firstRefusal? (refusal : String → Json → Option DecodeFault)
    (fields : List (String × Json)) :
    Option DecodeFault :=
  fields.findSome? fun (name, value) => refusal name value

end Json

end SqlCatalog
