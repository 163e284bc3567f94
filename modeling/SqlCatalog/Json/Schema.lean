import SqlCatalog.Json.Decode
import SqlCatalog.Schema.Table

/-!
# Tables as JSON

Tables and columns are stored as objects with one field for each part, none of
which is optional.  Reading looks at all fields that are present, in the order
of the object, before it looks for missing ones, in the order of definition;
fields of other names are passed over.  A sequence is read as well if it lists
all the parts in the order of definition and nothing else.
-/

namespace SqlCatalog

namespace Column

/-- A column as an object. -/
def toJson (column : Column) : Json :=
  .object
    [("name", .string column.name),
      ("dataType", .string column.dataType),
      ("defaultValue", .string column.defaultValue),
      ("comment", .string column.comment),
      ("notNull", .bool column.notNull),
      ("autoIncrement", .bool column.autoIncrement),
      ("character", .string column.charset),
      ("collate", .string column.collation)]

/-- The names of the parts in the order of definition. -/
def partNames : List String :=
  ["name", "dataType", "defaultValue", "comment", "notNull", "autoIncrement",
    "character", "collate"]

/-- The names of the parts that are truth values. -/
def flagNames : List String :=
  ["notNull", "autoIncrement"]

/-- The complaint about a field that is present. -/
def fieldRefusal? (name : String) (value : Json) : Option DecodeFault :=
  if flagNames.contains name then Json.refusal? Json.toFlag value
  else if partNames.contains name then Json.refusal? Json.toText value
  else none

/-- Reads a column, given its parts by name. -/
def ofParts (part : String → Except DecodeFault Json) :
    Except DecodeFault Column := do
  let name ← (← part "name").toText
  let dataType ← (← part "dataType").toText
  let defaultValue ← (← part "defaultValue").toText
  let comment ← (← part "comment").toText
  let notNull ← (← part "notNull").toFlag
  let autoIncrement ← (← part "autoIncrement").toFlag
  let charset ← (← part "character").toText
  let collation ← (← part "collate").toText
  return {
    name, dataType, defaultValue, comment, notNull, autoIncrement, charset,
    collation }

/-- Reads a column. -/
def ofJson : Json → Except DecodeFault Column
  | .object fields =>
    match Json.firstRefusal? fieldRefusal? fields with
    | some fault => .error fault
    | none => ofParts (Json.field fields)
  | .array items => do
    let column ← ofParts (Json.item .column partNames items)
    if partNames.length < items.length then throw (.tooManyItems items.length)
    return column
  | other => .error (.wrongType other .column)

/-- A column that was stored is read back. -/
@[simp]
theorem ofJson_toJson (column : Column) :
    ofJson column.toJson = .ok column := by
  simp [ofJson, ofParts, toJson, Json.firstRefusal?, fieldRefusal?, partNames,
    flagNames, Json.refusal?, Json.toText, Json.toFlag, Json.field,
    List.lookup_cons, bind, Except.bind, pure, Except.pure]

end Column

namespace Table

/-- A table as an object. -/
def toJson (table : Table) : Json :=
  .object
    [("name", .string table.name),
      ("comment", .string table.comment),
      ("engine", .string table.engine),
      ("character", .string table.charset),
      ("collate", .string table.collation),
      ("columns", .array (table.columns.map Column.toJson))]

/-- The names of the parts in the order of definition. -/
def partNames : List String :=
  ["name", "comment", "engine", "character", "collate", "columns"]

/-- Reads a sequence of columns. -/
def columnsOfJson (json : Json) : Except DecodeFault (List Column) := do
  let items ← json.toSequence
  items.mapM Column.ofJson

/-- The complaint about a field that is present. -/
def fieldRefusal? (name : String) (value : Json) : Option DecodeFault :=
  if name = "columns" then Json.refusal? columnsOfJson value
  else if partNames.contains name then Json.refusal? Json.toText value
  else none

/-- Reads a table, given its parts by name. -/
def ofParts (part : String → Except DecodeFault Json) :
    Except DecodeFault Table := do
  let name ← (← part "name").toText
  let comment ← (← part "comment").toText
  let engine ← (← part "engine").toText
  let charset ← (← part "character").toText
  let collation ← (← part "collate").toText
  let columns ← columnsOfJson (← part "columns")
  return { name, comment, engine, charset, collation, columns }

/-- Reads a table. -/
def ofJson : Json → Except DecodeFault Table
  | .object fields =>
    match Json.firstRefusal? fieldRefusal? fields with
    | some fault => .error fault
    | none => ofParts (Json.field fields)
  | .array items => do
    let table ← ofParts (Json.item .table partNames items)
    if partNames.length < items.length then throw (.tooManyItems items.length)
    return table
  | other => .error (.wrongType other .table)

/-- Columns that were stored are read back in order. -/
theorem columnsOfJson_array (columns : List Column) :
    columnsOfJson (.array (columns.map Column.toJson)) = .ok columns := by
  change (columns.map Column.toJson).mapM Column.ofJson = .ok columns
  induction columns with
  | nil => rfl
  | cons column columns hypothesis =>
    rw [List.map_cons, List.mapM_cons, hypothesis, Column.ofJson_toJson]
    rfl

/-- A table that was stored is read back. -/
@[simp]
theorem ofJson_toJson (table : Table) :
    ofJson table.toJson = .ok table := by
  simp [ofJson, ofParts, toJson, Json.firstRefusal?, fieldRefusal?, partNames,
    Json.refusal?, Json.toText, Json.field, List.lookup_cons,
    columnsOfJson_array, bind, Except.bind, pure, Except.pure]

end Table

end SqlCatalog
