import Mathlib.Data.List.Forall2
import Mathlib.Data.List.Nodup
import SqlCatalog.Json.Schema

/-!
# Reading objects with other fields around

A stored table can pass through other hands before it is read back: fields may
be put in another order, and fields that the catalogue knows nothing of may be
added, to the table as well as to its columns.  None of this shows.  A field is
found by its name wherever it stands, and a field of another name is passed
over whatever it holds, even if it has a name that the other record knows.
-/

namespace SqlCatalog

namespace Json

/--
A value carries another one if it is the same up to its objects, which have the
fields of the original ones in any order, and may have further fields of other
names.
-/
inductive Carries : Json → Json → Prop
  | null : Carries .null .null
  | bool (value : Bool) : Carries (.bool value) (.bool value)
  | integer (value : Int) : Carries (.integer value) (.integer value)
  | fraction (numeral : String) : Carries (.fraction numeral) (.fraction numeral)
  | string (value : String) : Carries (.string value) (.string value)
  | array {items originals : List Json}
      (each : List.Forall₂ Carries items originals) :
      Carries (.array items) (.array originals)
  | object {fields further originals : List (String × Json)}
      {values : List Json}
      (each : List.Forall₂ Carries values (originals.map Prod.snd))
      (order : fields.Perm ((originals.map Prod.fst).zip values ++ further))
      (others : ∀ field ∈ further, field.1 ∉ originals.map Prod.fst) :
      Carries (.object fields) (.object originals)

@[simp]
theorem carries_string_iff {json : Json} {value : String} :
    json.Carries (.string value) ↔ json = .string value := by
  constructor
  · intro carries
    cases carries
    rfl
  · rintro rfl
    exact .string value

@[simp]
theorem carries_bool_iff {json : Json} {value : Bool} :
    json.Carries (.bool value) ↔ json = .bool value := by
  constructor
  · intro carries
    cases carries
    rfl
  · rintro rfl
    exact .bool value

/-- Fields of an object around which other fields may stand. -/
structure HasFields (fields own : List (String × Json)) : Prop where
  /-- No two of the fields share a name. -/
  distinct : (own.map Prod.fst).Nodup
  /-- The object consists of the fields and others, in any order. -/
  order : ∃ further, fields.Perm (own ++ further) ∧
    ∀ field ∈ further, field.1 ∉ own.map Prod.fst

namespace HasFields

variable {fields own : List (String × Json)}

/-- A field of the object is one of those, or it has another name. -/
theorem cases_of_mem
    (has : HasFields fields own)
    {entry : String × Json}
    (member : entry ∈ fields) :
    entry ∈ own ∨ entry.1 ∉ own.map Prod.fst := by
  obtain ⟨further, order, others⟩ := has.order
  rcases List.mem_append.mp (order.mem_iff.mp member) with here | there
  · exact Or.inl here
  · exact Or.inr (others entry there)

/-- A field is found by its name, wherever it stands. -/
theorem field_eq
    (has : HasFields fields own)
    {name : String} {value : Json}
    (listed : (name, value) ∈ own) :
    field fields name = .ok value := by
  obtain ⟨further, order, -⟩ := has.order
  have inside : (name, value) ∈ fields :=
    order.mem_iff.mpr (List.mem_append_left further listed)
  have named : name ∈ own.map Prod.fst := List.mem_map_of_mem listed
  cases found : fields.lookup name with
  | none =>
      rw [List.lookup_eq_none_iff] at found
      simpa using found (name, value) inside
  | some other =>
      obtain ⟨before, behind, parts, -⟩ := List.lookup_eq_some_iff.mp found
      have member : (name, other) ∈ fields := by
        rw [parts]
        simp
      have same : (name, other) = (name, value) := by
        rcases has.cases_of_mem member with known | unknown
        · exact List.inj_on_of_nodup_map has.distinct known listed rfl
        · exact absurd named unknown
      cases same
      rw [field, found]

/-- What is complained of is one of those fields. -/
theorem firstRefusal?_eq_none
    (has : HasFields fields own)
    {refusal : String → Json → Option DecodeFault}
    (known : ∀ entry ∈ own, refusal entry.1 entry.2 = none)
    (unknown : ∀ name ∉ own.map Prod.fst, ∀ value, refusal name value = none) :
    firstRefusal? refusal fields = none := by
  rw [firstRefusal?, List.findSome?_eq_none_iff]
  intro entry member
  rcases has.cases_of_mem member with listed | other
  · exact known entry listed
  · exact unknown entry.1 other entry.2

end HasFields

/--
What carries an object is an object that has its fields, with values that carry
the ones there.
-/
theorem Carries.hasFields
    {json : Json} {originals : List (String × Json)}
    (carries : json.Carries (.object originals))
    (distinct : (originals.map Prod.fst).Nodup) :
    ∃ fields values,
      json = .object fields ∧
        List.Forall₂ Carries values (originals.map Prod.snd) ∧
          HasFields fields ((originals.map Prod.fst).zip values) := by
  cases carries with
  | object each order others =>
      rename_i fields further values
      have names :
          ((originals.map Prod.fst).zip values).map Prod.fst =
            originals.map Prod.fst := by
        apply List.map_fst_zip
        simp [each.length_eq]
      refine ⟨fields, values, rfl, each, ?_, further, order, ?_⟩
      · rwa [names]
      · rwa [names]

end Json

/-! ## Columns -/

namespace Column

/-- A column is read from an object with its fields. -/
theorem ofJson_of_hasFields
    {column : Column} {own fields : List (String × Json)}
    (stored : column.toJson = .object own)
    (has : Json.HasFields fields own) :
    ofJson (.object fields) = .ok column := by
  rw [toJson, Json.object.injEq] at stored
  subst stored
  have noRefusal : Json.firstRefusal? fieldRefusal? fields = none := by
    apply has.firstRefusal?_eq_none
    · simp [fieldRefusal?, flagNames, partNames, Json.refusal?, Json.toText,
        Json.toFlag]
    · intro name other value
      have unknown : name ∉ partNames := other
      have flags : flagNames ⊆ partNames := by decide
      have noFlag : name ∉ flagNames := fun flag => unknown (flags flag)
      simp [fieldRefusal?, unknown, noFlag]
  have field {name : String} {value : Json} (listed : (name, value) ∈ _) :
      Json.field fields name = .ok value :=
    has.field_eq listed
  simp [ofJson, noRefusal, ofParts, field, Json.toText, Json.toFlag, bind,
    Except.bind, pure, Except.pure]

/-- A column is read from whatever carries it. -/
theorem ofJson_of_carries
    {column : Column} {json : Json}
    (carries : json.Carries column.toJson) :
    ofJson json = .ok column := by
  obtain ⟨fields, values, rfl, each, has⟩ :=
    Json.Carries.hasFields carries (by simp)
  have same : values =
      [.string column.name, .string column.dataType,
        .string column.defaultValue, .string column.comment,
        .bool column.notNull, .bool column.autoIncrement,
        .string column.charset, .string column.collation] := by
    simpa [List.forall₂_cons_right_iff] using each
  subst same
  exact ofJson_of_hasFields rfl has

end Column

/-! ## Tables -/

namespace Table

/-- Columns are read in order from whatever carries them. -/
theorem columnsOfJson_of_carries
    {columns : List Column} {json : Json}
    (carries : json.Carries (.array (columns.map Column.toJson))) :
    columnsOfJson json = .ok columns := by
  cases carries with
  | array each =>
      rename_i items
      rw [List.forall₂_map_right_iff] at each
      change items.mapM Column.ofJson = .ok columns
      induction each with
      | nil => rfl
      | cons carries _ hypothesis =>
          rw [List.mapM_cons, hypothesis, Column.ofJson_of_carries carries]
          rfl

/--
A table is read from an object with its fields, of which the columns may be
another value that they are read from.
-/
theorem ofJson_of_hasFields
    {table : Table} {columns : Json} {fields : List (String × Json)}
    (read : columnsOfJson columns = .ok table.columns)
    (has : Json.HasFields fields
      [("name", .string table.name),
        ("comment", .string table.comment),
        ("engine", .string table.engine),
        ("character", .string table.charset),
        ("collate", .string table.collation),
        ("columns", columns)]) :
    ofJson (.object fields) = .ok table := by
  have noRefusal : Json.firstRefusal? fieldRefusal? fields = none := by
    apply has.firstRefusal?_eq_none
    · simp [fieldRefusal?, partNames, Json.refusal?, Json.toText, read]
    · intro name other value
      have unknown : name ∉ partNames := other
      have notColumns : name ≠ "columns" := by
        rintro rfl
        exact unknown (by decide)
      simp [fieldRefusal?, unknown, notColumns]
  have field {name : String} {value : Json} (listed : (name, value) ∈ _) :
      Json.field fields name = .ok value :=
    has.field_eq listed
  simp [ofJson, noRefusal, ofParts, field, read, Json.toText, bind,
    Except.bind, pure, Except.pure]

/-- A table is read from whatever carries it. -/
theorem ofJson_of_carries
    {table : Table} {json : Json}
    (carries : json.Carries table.toJson) :
    ofJson json = .ok table := by
  obtain ⟨fields, values, rfl, each, has⟩ :=
    Json.Carries.hasFields carries (by simp)
  obtain ⟨columns, inside, same⟩ :
      ∃ columns : Json,
        columns.Carries (.array (table.columns.map Column.toJson)) ∧
          values =
            [.string table.name, .string table.comment, .string table.engine,
              .string table.charset, .string table.collation, columns] := by
    simpa [List.forall₂_cons_right_iff] using each
  subst same
  exact ofJson_of_hasFields (columnsOfJson_of_carries inside) has

/--
A table that was stored is read back, also if it and its columns have had their
fields put in another order and fields of other names added to them.
-/
theorem read_back
    (table : Table) :
    ofJson table.toJson = .ok table ∧
      ∀ json : Json, json.Carries table.toJson → ofJson json = .ok table := by
  refine ⟨ofJson_toJson table, ?_⟩
  intro json carries
  exact ofJson_of_carries carries

/--
A table with its fields in reverse and a column with a field in front that the
table would know, but not the column.  Both additional fields hold numbers.
-/
theorem read_back_reversed :
    ofJson (.object
      [("dataType", .fraction "1.5e300"),
        ("columns", .array [.object
          [("engine", .integer 7),
            ("name", .string "id"),
            ("dataType", .string "INT"),
            ("defaultValue", .string ""),
            ("comment", .string "key"),
            ("notNull", .bool true),
            ("autoIncrement", .bool false),
            ("character", .string ""),
            ("collate", .string "")]]),
        ("collate", .string ""),
        ("character", .string "utf8"),
        ("engine", .string "InnoDB"),
        ("comment", .string "people"),
        ("name", .string "users")]) =
      .ok {
        name := "users"
        comment := "people"
        engine := "InnoDB"
        charset := "utf8"
        collation := ""
        columns := [{
          name := "id"
          dataType := "INT"
          defaultValue := ""
          comment := "key"
          notNull := true
          autoIncrement := false
          charset := ""
          collation := "" }] } := by
  have column : Json.Carries _ (Column.toJson {
      name := "id", dataType := "INT", comment := "key", notNull := true }) :=
    @Json.Carries.object _ [("engine", .integer 7)] _
      [.string "id", .string "INT", .string "", .string "key", .bool true,
        .bool false, .string "", .string ""]
      (by simp) (List.perm_append_singleton _ _).symm (by simp)
  have columns := Json.Carries.array (.cons column .nil)
  apply (read_back _).2
  refine @Json.Carries.object _ [("dataType", .fraction "1.5e300")] _
    [.string "users", .string "people", .string "InnoDB", .string "utf8",
      .string "", _] ?_ (List.perm_reverse.mp (.refl _)) (by simp)
  simpa using columns

end Table

end SqlCatalog
