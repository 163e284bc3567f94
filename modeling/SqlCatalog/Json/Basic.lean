import SqlCatalog.Unicode.Glyph

/-!
# JSON values

Numbers are whole, or they have a fraction or an exponent.  The latter are told
by their numerals, since the catalogue never computes with them.  The fields of
an object are kept in order: it decides which of two faults is reported.
-/

namespace SqlCatalog

/-- A JSON value. -/
inductive Json where
  | null
  | bool (value : Bool)
  | integer (value : Int)
  /-- A number with a fraction or an exponent, by the numeral it is shown with. -/
  | fraction (numeral : String)
  | string (value : String)
  | array (items : List Json)
  | object (fields : List (String × Json))
deriving Inhabited, Repr

namespace Json

/-- The lower-case hexadecimal digits of a number. -/
def hexadecimal (number : Nat) : String :=
  String.ofList (Nat.toDigits 16 number)

/--
A character as it is shown between quotation marks.  One without a glyph is
spelled out by its code point.
-/
def shownChar (char : Char) : String :=
  if char = '\x22' then "\\\""
  else if char = '\\' then "\\\\"
  else if char = '\n' then "\\n"
  else if char = '\r' then "\\r"
  else if char = '\t' then "\\t"
  else if char.toNat = 0 then "\\0"
  else if Unicode.hasGlyph char then String.singleton char
  else "\\u\x7b" ++ hexadecimal char.toNat ++ "\x7d"

/-- A value as it is named in a complaint. -/
def describe : Json → String
  | null => "null"
  | bool true => "boolean `true`"
  | bool false => "boolean `false`"
  | integer value => "integer `" ++ value.repr ++ "`"
  | fraction numeral => "floating point `" ++ numeral ++ "`"
  | string value =>
    "string \"" ++ String.join (value.toList.map shownChar) ++ "\""
  | array _ => "sequence"
  | object _ => "map"

end Json

end SqlCatalog
